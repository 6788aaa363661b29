/-
# What a watch prints

A watch is a fold of refreshes.  The trees it goes through (`treesFrom`) are the one it
starts with and the one after each tick, and the snapshots (`snapshotsOver`) come from
refreshing the one before over the next tree, always with the configuration that was
discovered at the start.  What is printed are the reports of these snapshots and nothing
else (`watch_prints_reports`).

The invariant of the loop is that the service stays started with that configuration and
that its snapshot has all fields.  Then a round goes through (`round_of_started`): a
refresh with a configuration that was discovered cannot fail in any tree, and neither can
the report of a snapshot whose temperature was read from a file (`exists_reported`).
-/

import PowerSupply.CommandLine.Session
import PowerSupply.Proofs.Refresh.Discovered
import PowerSupply.Proofs.Refresh.History
import PowerSupply.Proofs.Report
import PowerSupply.Proofs.Settings

namespace PowerSupply
namespace CommandLine

/-- The trees that a watch goes through: the one it starts with and the one after each
tick. -/
def treesFrom (t : FileTree) : List (List FileTree.Change) → List FileTree
  | [] => [t]
  | tick :: ticks => t :: treesFrom (t.changes tick) ticks

/-- A snapshot after a refresh over a tree with a configuration. -/
def refreshed (k : Constants) (c : Configuration) (s : Snapshot) (t : FileTree) : Snapshot :=
  s.writeAll k (Action.writes (Refresh.run t c).events)

/-- The snapshots after refreshes over trees in turn, with one configuration. -/
def snapshotsOver (k : Constants) (c : Configuration) : Snapshot → List FileTree → List Snapshot
  | _, [] => []
  | s, t :: ts => refreshed k c s t :: snapshotsOver k c (refreshed k c s t) ts

/-- The report of a snapshot, for programs or for people. -/
def reported (json : Bool) (k : Constants) (s : Snapshot) : Except Fault String :=
  if json then .ok (line (Report.snapshotMembers k s))
  else Report.snapshotText (Report.snapshotMembers k s)

/-- The reports of snapshots, each followed by an empty line, and the line that ends a
watch. -/
def reports (json : Bool) (k : Constants) : List Snapshot → Except Fault String
  | [] => .ok "\nStopped.\n"
  | s :: ss => do
    let report ← reported json k s
    return report ++ "\n" ++ (← reports json k ss)

/-- All that a watch prints: the line that starts it, and the reports. -/
def watched (json : Bool) (interval : Json) (k : Constants) (ss : List Snapshot) :
    Except Fault String := do
  return "Monitoring battery (every " ++ interval.display ++ "s, Ctrl+C to stop)...\n\n" ++
    (← reports json k ss)

/-- Whether a snapshot has all fields. -/
def Complete (s : Snapshot) : Prop := ∀ f : Field, ∃ v, s.get? f.name = some v

variable {k : Constants} {c : Configuration} {t₀ : FileTree} {root : Path}

/-- The fields after a refresh with a configuration that was discovered: what is seen of
them in the tree, or what they were. -/
theorem get?_refreshed (hc : (Discovery.run t₀ root).result = .ok c) (s : Snapshot) (t : FileTree)
    (f : Field) :
    (refreshed k c s t).get? f.name = (Refresh.seen k c t f).or (s.get? f.name) := by
  obtain ⟨d, hd, hz⟩ := Discovery.divisor_of_run hc
  exact (Refresh.get?_refresh hd hz (Discovery.hasNul_of_run hc) root k [] s t).2 f

/-- **A refresh keeps a snapshot complete.** -/
theorem Complete.refreshed (hc : (Discovery.run t₀ root).result = .ok c) {s : Snapshot}
    (hs : Complete s) (t : FileTree) : Complete (refreshed k c s t) := by
  intro f
  rw [get?_refreshed hc]
  cases Refresh.seen k c t f with
  | none => exact hs f
  | some v => exact ⟨v, rfl⟩

/-- **A refreshed snapshot can be reported:** its temperature comes from a file, so it is
not too large to be divided. -/
theorem exists_reported (json : Bool) (hc : (Discovery.run t₀ root).result = .ok c) {s : Snapshot}
    (hs : Complete s) (t : FileTree) : ∃ text, reported json k (refreshed k c s t) = .ok text := by
  cases json with
  | true => exact ⟨_, rfl⟩
  | false =>
    have temperature : (refreshed k c s t).get? Field.temperature.name =
        some (.int (Attribute.number t c.paths.temperature)) := get?_refreshed hc s t .temperature
    have small : (Attribute.number t c.paths.temperature).natAbs.log2 < 1000 :=
      Nat.lt_of_le_of_lt (Attribute.log2_number_le t c.paths.temperature) (by decide)
    exact Report.exists_snapshotText k (hs.refreshed hc t) temperature small

/-- The report of a started session is that of its snapshot. -/
theorem report_of_started {s : Session} (hs : s.service.stage = .started k c) :
    s.report = reported s.json k s.service.snapshot := by
  unfold Session.report Report.ofSnapshot Service.constants?
  rw [hs]
  rfl

/-- A session with another snapshot. -/
def Session.withSnapshot (s : Session) (snapshot : Snapshot) : Session :=
  { s with service := { s.service with snapshot } }

/-- **One round** refreshes the snapshot, prints its report and leaves the tree as it
is. -/
theorem round_of_started {s : Session} (hs : s.service.stage = .started k c) {t : FileTree}
    (hrun : (Refresh.run t c).result = .ok ()) {text : String}
    (ht : reported s.json k (refreshed k c s.service.snapshot t) = .ok text) :
    s.round t = (s.withSnapshot (refreshed k c s.service.snapshot t), t,
      Output.log s.plan.threshold (Action.notes (Refresh.run t c).events) ++ .text text,
      .ok ()) := by
  have report : (s.withSnapshot (refreshed k c s.service.snapshot t)).report = .ok text :=
    (report_of_started (s := s.withSnapshot (refreshed k c s.service.snapshot t)) hs).trans ht
  unfold refreshed Session.withSnapshot at report
  simp only [Session.round, Service.update_of_started hs, Service.refresh_started hs,
    Provider.ofRoot, hrun, Except.bind]
  rw [report]
  rfl

/-- A single round. -/
theorem once_of_round {s next : Session} {t t' : FileTree} {output : Output}
    (h : s.round t = (next, t', output, .ok ())) : s.once t = ⟨.exit 0, output, [], t'⟩ := by
  unfold Session.once
  rw [h]

/-- The last round of a watch, whose pause is interrupted. -/
theorem rounds_nil {s next : Session} {t t' : FileTree} {output : Output}
    (h : s.round t = (next, t', output, .ok ())) :
    s.rounds t [] =
      ⟨.exit 0, output ++ .text "\n" ++ .text Session.farewell, [next.plan.interval], t'⟩ := by
  rw [Session.rounds, h]

/-- A round of a watch and the rounds after the next tick. -/
theorem rounds_cons {s next : Session} {t t' : FileTree} {output : Output}
    (h : s.round t = (next, t', output, .ok ())) (tick : List FileTree.Change)
    (ticks : List (List FileTree.Change)) :
    s.rounds t (tick :: ticks) =
      { next.rounds (t'.changes tick) ticks with
        output := output ++ .text "\n" ++ (next.rounds (t'.changes tick) ticks).output
        pauses := next.plan.interval :: (next.rounds (t'.changes tick) ticks).pauses } := by
  rw [Session.rounds, h]

/-- **A watch that has started goes on to its end.**  It prints the reports of the
snapshots over the trees that it goes through, pauses after each, and ends well. -/
theorem rounds_of_started (hc : (Discovery.run t₀ root).result = .ok c)
    (ticks : List (List FileTree.Change)) {s : Session} (hs : s.service.stage = .started k c)
    (complete : Complete s.service.snapshot) (t : FileTree) :
    (s.rounds t ticks).ending = .exit 0 ∧
      (s.rounds t ticks).pauses = List.replicate (ticks.length + 1) s.plan.interval ∧
      reports s.json k (snapshotsOver k c s.service.snapshot (treesFrom t ticks)) =
        .ok (s.rounds t ticks).output.printed := by
  induction ticks generalizing s t with
  | nil =>
    obtain ⟨text, ht⟩ := exists_reported s.json hc complete t
    rw [rounds_nil (round_of_started hs (Refresh.result_run_of_discovered hc t) ht)]
    refine ⟨rfl, rfl, ?_⟩
    rw [treesFrom, snapshotsOver, snapshotsOver, reports, ht]
    show Except.ok (text ++ "\n" ++ Session.farewell) =
      .ok ("" ++ text ++ "\n" ++ Session.farewell)
    rw [String.empty_append]
  | cons tick ticks ih =>
    obtain ⟨text, ht⟩ := exists_reported s.json hc complete t
    rw [rounds_cons (round_of_started hs (Refresh.result_run_of_discovered hc t) ht)]
    obtain ⟨hend, hpauses, hprinted⟩ :=
      ih (s := s.withSnapshot (refreshed k c s.service.snapshot t)) hs (complete.refreshed hc t)
        (t.changes tick)
    generalize (s.withSnapshot (refreshed k c s.service.snapshot t)).rounds (t.changes tick) ticks =
      rest at hend hpauses hprinted
    refine ⟨hend, congrArg (s.plan.interval :: ·) hpauses, ?_⟩
    rw [treesFrom, snapshotsOver, reports, ht]
    show (reports s.json k (snapshotsOver k c (refreshed k c s.service.snapshot t)
      (treesFrom (t.changes tick) ticks))).bind (fun later => .ok (text ++ "\n" ++ later)) =
        .ok ("" ++ text ++ "\n" ++ rest.output.printed)
    rw [String.empty_append]
    exact congrArg (Except.bind · _) hprinted

/-- The beginning of a run starts a service with what is discovered in the tree that
loading the settings leaves, and prints nothing. -/
theorem begin_of_ok {r : Request} {x : Surroundings} {t : FileTree} {settings : Settings}
    {plan : Plan} (hs : (loadSettings r x.environment t).2.result = .ok settings)
    (hp : Plan.make r x.environment settings = .ok plan)
    (hk : Constants.bind x.constants x.snapshot = .ok k)
    (hc : (Discovery.run (loadSettings r x.environment t).1 plan.root).result = .ok c) :
    ∃ output : Output, output.printed = "" ∧
      begin r x t = ((loadSettings r x.environment t).1, output,
        .running ⟨r.json, plan, ⟨x.constants, x.snapshot, .started k c⟩⟩) := by
  have plans : (loadSettings r x.environment t).2.result.bind (Plan.make r x.environment) =
      .ok plan := by
    rw [hs]
    exact hp
  obtain ⟨hstart, hfound⟩ := Service.start_found (p := .ofRoot plan.root)
    (s := .idle x.constants x.snapshot) (w := (loadSettings r x.environment t).1) rfl hk hc
  obtain ⟨hservice, htree⟩ := Prod.mk.inj hstart
  unfold begin
  simp only [plans, hfound, hservice, htree]
  exact ⟨_, rfl, rfl⟩

/-- A plan that is made consists of what the request and the settings say of its parts. -/
theorem parts_of_make {r : Request} {env : Environment} {settings : Settings} {plan : Plan}
    (hp : Plan.make r env settings = .ok plan) :
    Plan.thresholdFor r settings = .ok plan.threshold ∧
      Plan.rootFor r env settings = .ok plan.root ∧
      plan.interval = Plan.intervalFor r settings := by
  obtain ⟨threshold, hthreshold, hp⟩ := bind_eq_ok.1 hp
  obtain ⟨root, hroot, hp⟩ := bind_eq_ok.1 hp
  obtain rfl := Except.ok.inj hp
  exact ⟨hthreshold, hroot, rfl⟩

/-- The pause of a plan is the one for the request under the settings. -/
theorem interval_of_make {r : Request} {env : Environment} {settings : Settings} {plan : Plan}
    (hp : Plan.make r env settings = .ok plan) : plan.interval = Plan.intervalFor r settings :=
  (parts_of_make hp).2.2

/-- A run that has begun does what is asked for. -/
theorem run_of_begin {words : List String} {r : Request} {x : Surroundings} {t t' : FileTree}
    {output : Output} {s : Session} (hr : parse words = .ok r) (hl : r.list = false)
    (hb : begin r x t = (t', output, .running s)) (ticks : List (List FileTree.Change)) :
    run words x t ticks = (if r.watch then s.watch t' ticks else s.once t').after output := by
  unfold run perform
  simp only [hr, hb, hl, Bool.false_eq_true, if_false]

/-- **A watch prints the reports of a fold of refreshes.**  Let the settings be loaded,
the plan be made and the constants be bound, and let a configuration be discovered in the
tree that loading the settings leaves.  Then a watch that is interrupted in the pause after
the last tick ends well, after one pause more than there were ticks, each of the length that
was asked for.  It prints the reports of the snapshots that come from refreshing, with that
one configuration, over the tree and over what each tick makes of it; and the first of
these reports is what a single run prints. -/
theorem watch_prints_reports {words : List String} {r : Request} {x : Surroundings} {t : FileTree}
    {settings : Settings} {plan : Plan} (hr : parse words = .ok r) (hw : r.watch = true)
    (hl : r.list = false) (hs : (loadSettings r x.environment t).2.result = .ok settings)
    (hp : Plan.make r x.environment settings = .ok plan)
    (hk : Constants.bind x.constants x.snapshot = .ok k)
    (hc : (Discovery.run (loadSettings r x.environment t).1 plan.root).result = .ok c)
    (ticks : List (List FileTree.Change)) :
    let start := (loadSettings r x.environment t).1
    let interval := Plan.intervalFor r settings
    let snapshots := snapshotsOver k c x.snapshot (treesFrom start ticks)
    let outcome := run words x t ticks
    outcome.ending = .exit 0 ∧
      outcome.pauses = List.replicate (ticks.length + 1) interval ∧
      watched r.json interval k snapshots = .ok outcome.output.printed ∧
      ∀ words' ticks', parse words' = .ok { r with watch := false } →
        (run words' x t ticks').ending = .exit 0 ∧
          reported r.json k (refreshed k c x.snapshot start) =
            .ok (run words' x t ticks').output.printed := by
  intro start interval snapshots outcome
  have hinterval : plan.interval = interval := interval_of_make hp
  have complete : Complete x.snapshot := Constants.get?_of_bind hk
  obtain ⟨output, hsilent, hbegin⟩ := begin_of_ok hs hp hk hc
  obtain ⟨hend, hpauses, hprinted⟩ := rounds_of_started hc ticks
    (s := ⟨r.json, plan, ⟨x.constants, x.snapshot, .started k c⟩⟩) rfl complete start
  have hrun : outcome = _ := run_of_begin hr hl hbegin ticks
  rw [if_pos hw] at hrun
  refine ⟨?_, ?_, ?_, fun words' ticks' hr' => ?_⟩
  · rw [hrun]
    exact hend
  · rw [hrun, ← hinterval]
    exact hpauses
  · rw [hrun, ← hinterval]
    show (reports r.json k snapshots).bind _ = .ok (output.printed ++ (Session.banner _ ++ _))
    rw [hsilent, String.empty_append]
    exact congrArg (Except.bind · _) hprinted
  · obtain ⟨output', hsilent', hbegin'⟩ := begin_of_ok (r := { r with watch := false }) hs hp hk hc
    obtain ⟨text, ht⟩ := exists_reported (k := k) r.json hc complete start
    have hround := round_of_started (s := ⟨r.json, plan, ⟨x.constants, x.snapshot, .started k c⟩⟩)
      rfl (Refresh.result_run_of_discovered hc start) ht
    have honce : run words' x t ticks' = _ := (run_of_begin hr' hl hbegin' ticks').trans
      (congrArg (Outcome.after · output') (once_of_round hround))
    rw [honce]
    refine ⟨rfl, ?_⟩
    show _ = Except.ok (output'.printed ++ ("" ++ text))
    rw [hsilent', String.empty_append, String.empty_append]
    exact ht

/-- The constants of the customary source. -/
def customary : Constants :=
  ⟨fun s => ConstantSource.standard.integer s.constantName,
    fun h => ConstantSource.standard.integer h.constantName⟩

/-- Settings that are not there yet are the defaults. -/
theorem loadSettings_of_free {r : Request} {p : Path} (hr : r.config = .value p) {t : FileTree}
    (nul : p.hasNul = false) (free : (Settings.isThere t p).toOption.any (! ·) = true) :
    (loadSettings r {} t).2.result = .ok Settings.defaults := by
  obtain ⟨there, free, hthere⟩ := exists_ok_of_any free
  obtain rfl : there = false := Bool.not_eq_true' _ ▸ hthere
  unfold loadSettings
  rw [hr]
  exact Settings.load_of_free {} nul free

/-- Two ticks: the battery goes and another one comes that was not there at the start, and
then the first one is back with another level.  A single run prints the first report. -/
theorem watch_prints_three_reports :
    let single := ["-i", "2", "--root=ps", "--config", "settings.json"]
    let t := FileTree.empty.changes
      [.device "ps/BAT0" [("type", "Battery"), ("present", "1"), ("capacity", "80"),
          ("temp", "-215"), ("technology", "Li-ion")],
        .device "ps/AC" [("type", "Mains"), ("online", "1")]]
    let ticks : List (List FileTree.Change) :=
      [[.remove "ps/BAT0", .device "ps/BAT1" [("type", "Battery"), ("capacity", "5")]],
        [.device "ps/BAT0" [("present", "1"), ("capacity", "79")]]]
    let outcome := run ("-w" :: single) {} t ticks
    ∃ r settings plan c, parse ("-w" :: single) = .ok r ∧ r.watch = true ∧ r.list = false ∧
      (loadSettings r {} t).2.result = .ok settings ∧ Plan.make r {} settings = .ok plan ∧
      Constants.bind .standard .initial = .ok customary ∧
      (Discovery.run (loadSettings r {} t).1 plan.root).result = .ok c ∧
      outcome.ending = .exit 0 ∧ outcome.pauses = [.int 2, .int 2, .int 2] ∧
      watched false (.int 2) customary
        (snapshotsOver customary c .initial (treesFrom (loadSettings r {} t).1 ticks)) =
          .ok outcome.output.printed ∧
      reported false customary (refreshed customary c .initial (loadSettings r {} t).1) =
        .ok (run single {} t []).output.printed := by
  intro single t ticks outcome
  let r : Request :=
    { watch := true, interval := .value 2, root := .value "ps", config := .value "settings.json" }
  have hr : parse ("-w" :: single) = .ok r := rfl
  have hs : (loadSettings r {} t).2.result = .ok Settings.defaults :=
    loadSettings_of_free rfl (by decide +kernel) (by decide +kernel)
  have hp : Plan.make r {} Settings.defaults = .ok ⟨Level.warning.rank, "ps", .int 2⟩ := rfl
  have hk : Constants.bind .standard .initial = .ok customary := rfl
  obtain ⟨c, hc, -⟩ := exists_ok_of_any
    (x := (Discovery.run (loadSettings r {} t).1 "ps").result) (p := fun _ => true)
    (by decide +kernel)
  obtain ⟨hend, hpauses, hprinted, hsingle⟩ :=
    watch_prints_reports (x := {}) hr rfl rfl hs hp hk hc ticks
  exact ⟨r, _, _, c, hr, rfl, rfl, hs, hp, hk, hc, hend, hpauses, hprinted,
    (hsingle single [] rfl).2⟩

/-- **Loading the settings may add to the supply root.**  Here the file with the default
settings is made where the technology of the battery would stand, and the configuration is
discovered after that.  So what is printed is not what refreshing with the configuration of
the initial tree, and over it, gives. -/
theorem watch_of_settings_in_root :
    let words := ["--watch", "--root", "ps", "--config", "ps/BAT0/technology"]
    let t := FileTree.empty.changes
      [.device "ps/BAT0" [("type", "Battery"), ("present", "1"), ("status", "Full"),
        ("capacity", "80")]]
    ∃ r settings plan c, parse words = .ok r ∧ r.watch = true ∧ r.list = false ∧
      (loadSettings r {} t).2.result = .ok settings ∧ Plan.make r {} settings = .ok plan ∧
      Constants.bind .standard .initial = .ok customary ∧
      (Discovery.run t plan.root).result = .ok c ∧
      watched r.json (Plan.intervalFor r settings) customary
        (snapshotsOver customary c .initial (treesFrom t [])) ≠
          .ok (run words {} t []).output.printed := by
  intro words t
  let r : Request :=
    { watch := true, root := .value "ps", config := .value "ps/BAT0/technology" }
  have hs : (loadSettings r {} t).2.result = .ok Settings.defaults :=
    loadSettings_of_free rfl (by decide +kernel) (by decide +kernel)
  obtain ⟨c, hc, hne⟩ := exists_ok_of_any (x := (Discovery.run t "ps").result)
    (p := fun c => (watched false (.int 30) customary
      (snapshotsOver customary c .initial (treesFrom t []))).toOption ≠
        some (run words {} t []).output.printed) (by decide +kernel)
  exact ⟨r, _, ⟨Level.warning.rank, "ps", .int 30⟩, c, rfl, rfl, rfl, hs, rfl, rfl, hc,
    fun h => of_decide_eq_true hne (congrArg Except.toOption h)⟩

end CommandLine
end PowerSupply
