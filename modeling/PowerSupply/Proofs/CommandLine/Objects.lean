/-
# What is printed for programs

A run that is asked for objects prints them one to a line: the snapshot, the
configuration, or the account of a failed binding.  `printout` says which objects these
are and what else a run prints, and a run prints just that (`printed_run`).

Each object is a line of visible characters, whatever the names in the tree and the bytes
in its files (`Json.visible_of_mem_compact`), and it is read back from that line
(`objects_of_run`).  For that no object may have a key twice.  A refresh keeps the keys of
a snapshot distinct, since it sets fields to plain values (`Snapshot.proper_writeAll`),
and so does the report of a snapshot (`Report.proper_snapshotMembers`).
-/

import PowerSupply.Proofs.CommandLine.Watch
import PowerSupply.Proofs.Json.Visible

namespace PowerSupply

open Json (Lenient)
open Json.Members (Proper)

variable {p : Json → Bool} {k : Constants}

/-! ### Snapshots -/

namespace Snapshot

/-- **Plain values keep a snapshot proper.** -/
theorem proper_writeAll (hp : Lenient p) {s : Snapshot} (h : Proper p s.fields) {ws : List Write}
    (hw : ∀ w ∈ ws, (w.value k).plain = true) : Proper p (s.writeAll k ws).fields := by
  induction ws generalizing s with
  | nil => exact h
  | cons w ws ih =>
    have first : Proper p (s.write k w).fields :=
      h.set _ (hp.every_of_plain (hw w (List.mem_cons_self ..)))
    exact ih first fun v hv => hw v (List.mem_cons_of_mem _ hv)

/-- The fields that are declared are reported in their order. -/
theorem keys_declared_sublist (s : Snapshot) (fs : List Field) :
    (Json.Members.keys (fs.filterMap fun f => (s.get? f.name).map (f.name, ·))).Sublist
      (fs.map Field.name) := by
  induction fs with
  | nil => exact List.Sublist.slnil
  | cons f fs ih =>
    rw [List.filterMap_cons]
    cases s.get? f.name with
    | none => exact ih.cons _
    | some v => exact ih.cons_cons _

/-- What is reported of a proper snapshot is proper, whatever its class. -/
theorem proper_reported {s : Snapshot} (h : Proper p s.fields) : Proper p s.reported := by
  unfold reported
  split
  · refine ⟨(s.keys_declared_sublist _).nodup (by decide), Json.everyMember_iff.2 fun m hm => ?_⟩
    obtain ⟨f, -, hf⟩ := List.mem_filterMap.1 hm
    obtain ⟨v, hv, rfl⟩ := Option.map_eq_some_iff.1 hf
    exact Json.everyMember_iff.1 h.values _ (Json.Members.mem_of_get? hv)
  · exact h

end Snapshot

namespace Refresh

variable {t : FileTree} {c : Configuration}

theorem plain_of_mem_levelWrites {paths : AttributePaths} {w : Write}
    (h : w ∈ levelWrites t paths) : (w.value k).plain = true := by
  unfold levelWrites at h
  split at h
  · exact List.mem_singleton.1 h ▸ rfl
  split at h
  · exact List.mem_singleton.1 h ▸ rfl
  split at h
  · cases h
  · obtain ⟨n, -, rfl⟩ := Option.map_eq_some_iff.1 (Option.mem_toList.1 h)
    rfl

/-- **A refresh writes plain values:** truth values, integers and the text of the
technology. -/
theorem plain_of_mem_writesOf {v : Int} {w : Write} (h : w ∈ writesOf t c v) :
    (w.value k).plain = true := by
  simp only [writesOf, List.mem_append, List.mem_cons, List.not_mem_nil, or_false,
    Option.mem_toList, Option.map_eq_some_iff] at h
  rcases h with ((((rfl | h) | rfl | rfl | rfl) | ⟨_, -, rfl⟩) | ⟨_, -, rfl⟩) | rfl | rfl | rfl
  · rfl
  · exact plain_of_mem_levelWrites h
  all_goals rfl

end Refresh

/-! ### Reports -/

namespace Report

/-- **The report of a proper snapshot is proper:** the labels are set in their places. -/
theorem proper_snapshotMembers (hp : Lenient p) {s : Snapshot} (h : Proper p s.fields) :
    Proper p (snapshotMembers k s) :=
  (((Snapshot.proper_reported h).set _ (hp.every_of_plain rfl))).set _ (hp.every_of_plain rfl)

/-- The report of a configuration with an integer as its divisor is proper. -/
theorem proper_configurationMembers (hp : Lenient p) {c : Configuration} {d : Int}
    (hd : c.voltageDivisor = .int d) : Proper p (configurationMembers c) := by
  have chargers : (Json.arr (c.chargers.map Json.str)).every p = true := by
    refine Bool.and_eq_true_iff.2 ⟨hp.arr _, Json.everyItem_iff.2 fun j hj => ?_⟩
    obtain ⟨name, -, rfl⟩ := List.mem_map.1 hj
    exact hp.every_of_plain rfl
  have paths : Proper p (c.paths.entries.map fun e => (e.1, pathValue e.2)) := by
    refine ⟨?_, Json.everyMember_iff.2 fun m hm => ?_⟩
    · have names : Json.Members.keys (c.paths.entries.map fun e => (e.1, pathValue e.2)) =
          (({} : AttributePaths).entries.map (·.1)) := rfl
      rw [names]
      decide
    · obtain ⟨⟨name, path⟩, -, rfl⟩ := List.mem_map.1 hm
      cases path <;> exact hp.every_of_plain rfl
  refine ⟨?_, Json.everyMember_iff.2 fun m hm => ?_⟩
  · show ["root", "chargers", "level_source", "voltage_divisor", "paths"].Nodup
    decide
  · simp only [configurationMembers, List.mem_cons, List.not_mem_nil, or_false] at hm
    rcases hm with rfl | rfl | rfl | rfl | rfl
    · exact hp.every_of_plain rfl
    · exact chargers
    · cases c.paths.levelSource <;> exact hp.every_of_plain rfl
    · exact hd ▸ hp.every_of_plain rfl
    · exact paths.every hp

end Report

namespace CommandLine

variable {c : Configuration} {t t₀ : FileTree} {root : Path}

/-- A refresh with a configuration that was discovered keeps a snapshot proper. -/
theorem proper_refreshed (hp : Lenient p) (hc : (Discovery.run t₀ root).result = .ok c)
    {s : Snapshot} (h : Proper p s.fields) (t : FileTree) : Proper p (refreshed k c s t).fields := by
  obtain ⟨d, hd, hz⟩ := Discovery.divisor_of_run hc
  obtain ⟨v, hv⟩ := Refresh.exists_millivolts t c.paths.voltage hz
  rw [← hd] at hv
  unfold refreshed
  rw [(Refresh.makes_run (Discovery.hasNul_of_run hc) hv).writes]
  exact Snapshot.proper_writeAll hp h fun w => Refresh.plain_of_mem_writesOf

/-- **All snapshots of a watch are proper**, if the first one is. -/
theorem proper_of_mem_snapshotsOver (hp : Lenient p) (hc : (Discovery.run t₀ root).result = .ok c)
    {ts : List FileTree} {s s' : Snapshot} (h : Proper p s.fields)
    (hs : s' ∈ snapshotsOver k c s ts) : Proper p s'.fields := by
  induction ts generalizing s with
  | nil => cases hs
  | cons t ts ih =>
    have next : Proper p (refreshed k c s t).fields := proper_refreshed hp hc h t
    rcases List.mem_cons.1 hs with rfl | hs
    · exact next
    · exact ih next hs

/-! ### Printouts -/

/-- What a run prints: objects, each on a line of its own with the same text after it, and
a text before them and after them. -/
structure Printout where
  opening : String := ""
  objects : List Json.Members := []
  gap : String := ""
  closing : String := ""

namespace Printout

/-- The text of a printout. -/
def text (o : Printout) : String :=
  o.opening ++ String.join (o.objects.map fun ms => (Json.obj ms).compact ++ "\n" ++ o.gap) ++
    o.closing

/-- What is printed of a fault at the start: only a failed binding is accounted for. -/
def ofFault : Fault → Printout
  | .binding e => { objects := [[("error", .str e.message)]] }
  | _ => {}

end Printout

/-- The constants that a service is bound to and the configuration that it is started with
over a tree. -/
def starting (x : Surroundings) (t : FileTree) (root : Path) :
    Except Fault (Constants × Configuration) :=
  match Constants.bind x.constants x.snapshot with
  | .error e => .error (.binding e)
  | .ok k => (Discovery.run t root).result.map fun c => (k, c)

/-- What is printed for programs once a service is started: the configuration, the
snapshot after each refresh of a watch, or the one after a single refresh. -/
def Printout.ofStarted (r : Request) (plan : Plan) (k : Constants) (c : Configuration)
    (s : Snapshot) (t : FileTree) (ticks : List (List FileTree.Change)) : Printout :=
  if r.list then { objects := [Report.configurationMembers c] }
  else if r.watch then
    { opening :=
        "Monitoring battery (every " ++ plan.interval.display ++ "s, Ctrl+C to stop)...\n\n"
      objects := (snapshotsOver k c s (treesFrom t ticks)).map (Report.snapshotMembers k)
      gap := "\n"
      closing := "\nStopped.\n" }
  else { objects := [Report.snapshotMembers k (refreshed k c s t)] }

/-- What a run prints for programs.  Without settings or a plan for them it prints
nothing, and where the service does not start what there is to print of the fault. -/
def printout (r : Request) (x : Surroundings) (t : FileTree)
    (ticks : List (List FileTree.Change)) : Printout :=
  let (t, loaded) := loadSettings r x.environment t
  match loaded.result.bind (Plan.make r x.environment) with
  | .error _ => {}
  | .ok plan =>
    match starting x t plan.root with
    | .error f => .ofFault f
    | .ok (k, c) => .ofStarted r plan k c x.snapshot t ticks

/-- A single object is a line. -/
theorem text_singleton (ms : Json.Members) : Printout.text { objects := [ms] } = line ms := by
  simp [Printout.text, line, String.join_cons, String.join_nil]

theorem starting_eq_ok {x : Surroundings} (h : starting x t root = .ok (k, c)) :
    Constants.bind x.constants x.snapshot = .ok k ∧ (Discovery.run t root).result = .ok c := by
  unfold starting at h
  split at h
  · cases h
  · rename_i k' hk
    obtain ⟨c', hc, hkc⟩ := of_map_eq_ok h
    obtain ⟨rfl, rfl⟩ := Prod.mk.inj hkc
    exact ⟨hk, hc⟩

/-- The reports of a watch for programs are the lines of its objects. -/
theorem reports_true (ss : List Snapshot) :
    reports true k ss = .ok (String.join ((ss.map (Report.snapshotMembers k)).map fun ms =>
      (Json.obj ms).compact ++ "\n" ++ "\n") ++ "\nStopped.\n") := by
  induction ss with
  | nil => simp [reports, String.join_nil]
  | cons s ss ih =>
    simp only [reports, ih, reported, if_true, line, List.map_cons, String.join_cons,
      String.append_assoc, bind, Except.bind]
    rfl

section Run

variable {words : List String} {r : Request} {x : Surroundings} {plan : Plan}
  {ticks : List (List FileTree.Change)}

/-- The beginning of a run that has no plan prints nothing. -/
theorem begin_of_unplanned {f : Fault}
    (hp : (loadSettings r x.environment t).2.result.bind (Plan.make r x.environment) = .error f) :
    ∃ output : Output, output.printed = "" ∧
      begin r x t = ((loadSettings r x.environment t).1, output, .ended (.fault f)) := by
  unfold begin
  simp only [hp]
  exact ⟨_, rfl, rfl⟩

/-- **The beginning of a run whose service does not start** prints what there is to print
of the fault. -/
theorem begin_of_fault {f : Fault} (hj : r.json = true)
    (hp : (loadSettings r x.environment t).2.result.bind (Plan.make r x.environment) = .ok plan)
    (hf : starting x (loadSettings r x.environment t).1 plan.root = .error f) :
    ∃ t' output e, output.printed = (Printout.ofFault f).text ∧
      begin r x t = (t', output, .ended e) := by
  have start : (((Service.idle x.constants x.snapshot).start (.ofRoot plan.root)
      (loadSettings r x.environment t).1).2.2).result = .error f := by
    unfold starting at hf
    split at hf
    · rename_i e he
      obtain rfl := Except.error.inj hf
      rw [Service.start_unbound (s := .idle x.constants x.snapshot) rfl he]
      rfl
    · rename_i k hk
      cases hd : (Discovery.run (loadSettings r x.environment t).1 plan.root).result with
      | ok c =>
        rw [hd] at hf
        cases hf
      | error g =>
        rw [hd] at hf
        obtain rfl := Except.error.inj hf
        rw [Service.start_failed (p := .ofRoot plan.root) (s := .idle x.constants x.snapshot) rfl
          hk hd]
        exact hd
  unfold begin
  simp only [hp, start]
  cases f with
  | binding e =>
    refine ⟨_, _, _, ?_, rfl⟩
    show "" ++ bindingText r.json e = Printout.text { objects := [[("error", .str e.message)]] }
    rw [text_singleton, String.empty_append, hj]
    rfl
  | _ => exact ⟨_, _, _, rfl, rfl⟩

/-- **A started service** prints its configuration or the reports of its snapshots. -/
theorem printed_of_started {output : Output} {t' : FileTree} (hr : parse words = .ok r)
    (hj : r.json = true) (hk : Constants.bind x.constants x.snapshot = .ok k)
    (hc : (Discovery.run t₀ root).result = .ok c) (hsilent : output.printed = "")
    (hb : begin r x t =
      (t', output, .running ⟨r.json, plan, ⟨x.constants, x.snapshot, .started k c⟩⟩)) :
    (run words x t ticks).output.printed =
      (Printout.ofStarted r plan k c x.snapshot t' ticks).text := by
  have complete : Complete x.snapshot := Constants.get?_of_bind hk
  unfold Printout.ofStarted
  cases hl : r.list with
  | true =>
    unfold run perform
    simp only [hr, hb, hl, if_true]
    rw [text_singleton]
    simp only [Session.list, Session.listing, hj, if_true]
    show output.printed ++ line (Report.configurationMembers c) = _
    rw [hsilent, String.empty_append]
  | false =>
    rw [run_of_begin hr hl hb ticks, hj]
    cases r.watch with
    | true =>
      obtain ⟨-, -, hprinted⟩ := rounds_of_started hc ticks
        (s := ⟨true, plan, ⟨x.constants, x.snapshot, .started k c⟩⟩) rfl complete t'
      have hprinted := Except.ok.inj ((reports_true _).symm.trans hprinted)
      show output.printed ++ (Session.banner _ ++ _) = _
      rw [hsilent, String.empty_append, ← hprinted]
      exact (String.append_assoc ..).symm
    | false =>
      have hround := round_of_started (s := ⟨true, plan, ⟨x.constants, x.snapshot, .started k c⟩⟩)
        rfl (Refresh.result_run_of_discovered hc t') rfl
      show (Outcome.after (Session.once _ t') output).output.printed = Printout.text _
      rw [once_of_round hround]
      show output.printed ++ ("" ++ line _) = Printout.text { objects := [_] }
      rw [text_singleton, hsilent, String.empty_append, String.empty_append]

/-- **A run prints its printout.** -/
theorem printed_run (hr : parse words = .ok r) (hj : r.json = true) :
    (run words x t ticks).output.printed = (printout r x t ticks).text := by
  have ended {t' : FileTree} {output : Output} {e : Ending}
      (hb : begin r x t = (t', output, .ended e)) :
      (run words x t ticks).output.printed = output.printed := by
    unfold run perform
    simp only [hr, hb]
  cases hp : (loadSettings r x.environment t).2.result.bind (Plan.make r x.environment) with
  | error f =>
    obtain ⟨output, hsilent, hb⟩ := begin_of_unplanned hp
    simp only [printout, hp, ended hb, hsilent]
    rfl
  | ok plan =>
    cases hs : starting x (loadSettings r x.environment t).1 plan.root with
    | error f =>
      obtain ⟨t', output, e, hprinted, hb⟩ := begin_of_fault hj hp hs
      simp only [printout, hp, hs, ended hb, hprinted]
    | ok kc =>
      obtain ⟨k, c⟩ := kc
      obtain ⟨hk, hc⟩ := starting_eq_ok hs
      obtain ⟨settings, hsettings, hmake⟩ := bind_eq_ok.1 hp
      obtain ⟨output, hsilent, hb⟩ := begin_of_ok hsettings hmake hk hc
      simp only [printout, hp, hs]
      exact printed_of_started hr hj hk hc hsilent hb

/-- **All objects of a printout are proper**, if the snapshot at the start is. -/
theorem proper_of_mem_printout (hp : Lenient p) (hx : Proper p x.snapshot.fields)
    {ms : Json.Members} (hm : ms ∈ (printout r x t ticks).objects) : Proper p ms := by
  unfold printout at hm
  simp only at hm
  split at hm
  · cases hm
  split at hm
  · unfold Printout.ofFault at hm
    split at hm
    · exact List.mem_singleton.1 hm ▸ Proper.nil.set "error" (hp.every_of_plain rfl)
    · cases hm
  · rename_i hs
    obtain ⟨-, hc⟩ := starting_eq_ok hs
    unfold Printout.ofStarted at hm
    split at hm
    · obtain ⟨d, hd, -⟩ := Discovery.divisor_of_run hc
      exact List.mem_singleton.1 hm ▸ Report.proper_configurationMembers hp hd
    split at hm
    · obtain ⟨s, hs, rfl⟩ := List.mem_map.1 hm
      exact Report.proper_snapshotMembers hp (proper_of_mem_snapshotsOver hp hc hx hs)
    · exact List.mem_singleton.1 hm ▸
        Report.proper_snapshotMembers hp (proper_refreshed hp hc hx _)

end Run

/-- **What is printed for programs are objects on lines of their own.**

A run that is asked for objects prints its `printout` and nothing else.  Each object of it
is on one line of visible ASCII characters, and a value without floating-point numbers is
read back from that line: the same keys in the same order, and the same values.  There are
such numbers in no object at all, unless they are in the snapshot at the start. -/
theorem objects_of_run {words : List String} {r : Request} (hr : parse words = .ok r)
    (hj : r.json = true) {x : Surroundings}
    (hx : (Json.obj x.snapshot.fields).every Json.distinctKeys = true) (t : FileTree)
    (ticks : List (List FileTree.Change)) :
    let out := printout r x t ticks
    (run words x t ticks).output.printed = out.text ∧
      (∀ ms ∈ out.objects,
        let text := (Json.obj ms).compact.toList
        (∀ c ∈ text, Json.Visible c) ∧ '\n' ∉ text ∧
          ((Json.obj ms).every Json.notFloat = true → Json.read text = .ok (.obj ms))) ∧
      ((Json.obj x.snapshot.fields).every Json.notFloat = true →
        ∀ ms ∈ out.objects, (Json.obj ms).every Json.notFloat = true) := by
  intro out
  obtain ⟨distinct, values⟩ := Json.every_distinctKeys_obj.1 hx
  refine ⟨printed_run hr hj, fun ms hm => ⟨?_, ?_, fun exact => ?_⟩, fun exact ms hm => ?_⟩
  · exact fun c => Json.visible_of_mem_compact
  · exact fun hc => absurd (Json.visible_of_mem_compact hc) (by decide)
  · have proper := proper_of_mem_printout Json.lenient_distinctKeys ⟨distinct, values⟩ hm
    unfold Json.compact
    rw [String.toList_ofList]
    exact Json.read_print Json.Layout.blank_compact exact (proper.every Json.lenient_distinctKeys)
  · have exact : Json.everyMember Json.notFloat x.snapshot.fields = true := exact
    exact (proper_of_mem_printout Json.lenient_notFloat ⟨distinct, exact⟩ hm).every
      Json.lenient_notFloat

/-- A supply root and a charger with line feeds, quotes, control characters and a character
beyond 16 bits in their names, and a technology with bytes that are no text. -/
theorem objects_of_awkward_names :
    let words := ["--json", "--root=p\n\"s", "--config", "settings.json"]
    let t := FileTree.empty.changes
      [.device "p\n\"s/\x07\x7f🔋" [("type", "Mains"), ("online", "1")],
        .device "p\n\"s/BAT0" [("type", "Battery"), ("present", "1"), ("capacity", "80")],
        .file "p\n\"s/BAT0/technology" [0x4c, 0xff, 0x22, 0x0c, 0x5c, 0x7f, 0x6e]]
    let r : Request :=
      { json := true, root := .value "p\n\"s", config := .value "settings.json" }
    let snapshot := printout r {} t []
    let configuration := printout { r with list := true } {} t []
    parse words = .ok r ∧ parse ("--list" :: words) = .ok { r with list := true } ∧
      (Json.obj Snapshot.initial.fields).every Json.distinctKeys = true ∧
      snapshot.objects.map (fun ms => (Json.Members.get? "technology" ms).map Json.compact) =
        [some "\"L\\ufffd\\\"\\f\\\\\\u007fn\""] ∧
      configuration.objects.map (fun ms => (Json.Members.get? "chargers" ms).map Json.compact) =
        [some "[\"\\u0007\\u007f\\ud83d\\udd0b\"]"] ∧
      (run words {} t []).output.printed = snapshot.text ∧
      (run ("--list" :: words) {} t []).output.printed = configuration.text ∧
      ∀ ms ∈ snapshot.objects ++ configuration.objects,
        '\n' ∉ (Json.obj ms).compact.toList ∧
          Json.read (Json.obj ms).compact.toList = .ok (.obj ms) := by
  intro words t r snapshot configuration
  have hr : parse words = .ok r := rfl
  have hl : parse ("--list" :: words) = .ok { r with list := true } := rfl
  have hx : (Json.obj Snapshot.initial.fields).every Json.distinctKeys = true := by decide +kernel
  have hf : (Json.obj Snapshot.initial.fields).every Json.notFloat = true := by decide +kernel
  obtain ⟨hprinted, hlines, hexact⟩ := objects_of_run hr rfl (x := {}) hx t []
  obtain ⟨hprinted', hlines', hexact'⟩ := objects_of_run hl rfl (x := {}) hx t []
  refine ⟨hr, hl, hx, by decide +kernel, by decide +kernel, hprinted, hprinted', fun ms hm => ?_⟩
  rcases List.mem_append.1 hm with hm | hm
  · obtain ⟨-, hline, hread⟩ := hlines ms hm
    exact ⟨hline, hread (hexact hf ms hm)⟩
  · obtain ⟨-, hline, hread⟩ := hlines' ms hm
    exact ⟨hline, hread (hexact' hf ms hm)⟩

end CommandLine
end PowerSupply
