/-
# What a verbose run shows

A run that is asked to be verbose has every note in its log, and another run has those from
the level on that its settings name.  Nothing else depends on that.

`Output.above` leaves out of an output the diagnostics below a threshold.  With it the log of
a session is that of the verbose session (`Output.above_log`), so one round is
(`round_of_verbose`), and by induction on the ticks a watch is (`rounds_eq_above`).

What is noted while the settings are loaded comes before any threshold is known, and is shown
from warnings on in every run.  It is not below the threshold of the run, for settings that
something was noted about are the defaults, and these name warnings
(`Settings.silent_or_defaults_of_load`).  So a whole run is what is left of the verbose one
(`outcome_of_verbose`).
-/

import PowerSupply.Proofs.CommandLine.Watch
import PowerSupply.Proofs.Settings.Lookup

namespace PowerSupply
namespace CommandLine

/-! ### What is left of an output -/

/-- Whether a diagnostic is shown from a threshold on; a refusal always is. -/
def Diagnostic.isShown (threshold : Nat) : Diagnostic → Bool
  | .refusal _ => true
  | .bare n | .entry n => threshold ≤ n.level.rank

namespace Output

/-- An output without the diagnostics below a threshold. -/
def above (threshold : Nat) (o : Output) : Output :=
  { o with diagnostics := o.diagnostics.filter (·.isShown threshold) }

variable {threshold : Nat}

theorem above_append (a b : Output) :
    (a ++ b).above threshold = a.above threshold ++ b.above threshold := by
  unfold above
  rw [diagnostics_append, List.filter_append]
  rfl

theorem above_text (s : String) : (text s).above threshold = text s := rfl

/-- **Any log is what is left of the log with every note.** -/
theorem above_log (notes : List Note) :
    (log Level.debug.rank notes).above threshold = log threshold notes := by
  unfold above log
  rw [shown_debug, List.filter_map]
  rfl

/-- What is shown before the log is set up is not below a threshold of warnings. -/
theorem above_bare (h : threshold ≤ usualThreshold) (notes : List Note) :
    (bare notes).above threshold = bare notes := by
  have hall : (shown usualThreshold notes).filter (Diagnostic.isShown threshold ∘ .bare) =
      shown usualThreshold notes := by
    refine List.filter_eq_self.2 fun n hn => ?_
    have hn : usualThreshold ≤ n.level.rank := of_decide_eq_true (List.mem_filter.1 hn).2
    exact decide_eq_true (Nat.le_trans h hn)
  unfold above bare
  rw [List.filter_map, hall]

end Output

/-- An outcome without the diagnostics below a threshold. -/
def Outcome.above (threshold : Nat) (o : Outcome) : Outcome :=
  { o with output := o.output.above threshold }

theorem Outcome.above_after (threshold : Nat) (o : Outcome) (before : Output) :
    (o.after before).above threshold = (o.above threshold).after (before.above threshold) := by
  unfold Outcome.above Outcome.after
  rw [Output.above_append]

/-! ### Sessions -/

/-- A plan to have every note in the log. -/
def Plan.verbose (p : Plan) : Plan := { p with threshold := Level.debug.rank }

namespace Session

/-- A session with every note in its log. -/
def verbose (s : Session) : Session := { s with plan := s.plan.verbose }

/-- **One round** does the same in the verbose session, and its output is what is left of the
output there. -/
theorem round_of_verbose {s loud : Session} {t t' : FileTree} {output : Output}
    {result : Except Fault Unit} (h : s.verbose.round t = (loud, t', output, result)) :
    ∃ next : Session, loud = next.verbose ∧ next.plan = s.plan ∧
      s.round t = (next, t', output.above s.plan.threshold, result) := by
  rcases hupdate : s.service.update (Provider.ofRoot s.plan.root) t with ⟨service, t₁, done⟩
  have hreport : { s.verbose with service }.report = { s with service }.report := rfl
  have hroot : s.verbose.plan.root = s.plan.root := rfl
  have hservice : s.verbose.service = s.service := rfl
  unfold round at h ⊢
  simp only [hroot, hservice, hupdate, hreport] at h ⊢
  refine ⟨{ s with service }, ?_⟩
  cases hresult : done.result.bind fun _ => { s with service }.report with
  | ok text =>
    rw [hresult] at h
    cases h
    refine ⟨rfl, rfl, ?_⟩
    rw [Output.above_append, Output.above_text]
    exact congrArg (_, _, · ++ _, _) (Output.above_log _).symm
  | error f =>
    rw [hresult] at h
    cases h
    refine ⟨rfl, rfl, ?_⟩
    exact congrArg (_, _, ·, _) (Output.above_log _).symm

theorem list_eq_above (s : Session) (t : FileTree) :
    s.list t = (s.verbose.list t).above s.plan.threshold := by
  have hlisting : s.verbose.listing = s.listing := rfl
  unfold list
  rw [hlisting]
  cases s.listing <;> rfl

theorem once_eq_above (s : Session) (t : FileTree) :
    s.once t = (s.verbose.once t).above s.plan.threshold := by
  rcases h : s.verbose.round t with ⟨loud, t', output, result⟩
  obtain ⟨next, -, -, hround⟩ := round_of_verbose h
  unfold once
  rw [hround, h]
  cases result <;> rfl

/-- **The rounds of a watch** are what is left of those of the verbose session, over any
ticks: a round hands on a session with the same plan. -/
theorem rounds_eq_above (s : Session) (t : FileTree) (ticks : List (List FileTree.Change)) :
    s.rounds t ticks = (s.verbose.rounds t ticks).above s.plan.threshold := by
  induction ticks generalizing s t with
  | nil =>
    rcases h : s.verbose.round t with ⟨loud, t', output, result⟩
    obtain ⟨next, rfl, hplan, hround⟩ := round_of_verbose h
    rw [rounds, rounds, hround, h]
    cases result with
    | error f => rfl
    | ok u =>
      unfold Outcome.above
      rw [Output.above_append, Output.above_append]
      rfl
  | cons tick ticks ih =>
    rcases h : s.verbose.round t with ⟨loud, t', output, result⟩
    obtain ⟨next, rfl, hplan, hround⟩ := round_of_verbose h
    rw [rounds, rounds, hround, h]
    cases result with
    | error f => rfl
    | ok u =>
      have hrest := ih next (t'.changes tick)
      rw [hplan] at hrest
      unfold Outcome.above
      rw [Output.above_append, Output.above_append]
      dsimp only
      rw [hrest]
      rfl

theorem watch_eq_above (s : Session) (t : FileTree) (ticks : List (List FileTree.Change)) :
    s.watch t ticks = (s.verbose.watch t ticks).above s.plan.threshold := by
  unfold watch
  rw [Outcome.above_after, Output.above_text, ← rounds_eq_above]
  rfl

end Session

/-! ### Runs -/

variable {r : Request} {x : Surroundings} {t : FileTree} {settings : Settings} {threshold : Nat}

/-- What a request can be verbose about is the threshold of its plan. -/
theorem make_of_verbose {env : Environment} (h : Plan.thresholdFor r settings = .ok threshold) :
    Plan.make { r with verbose := true } env settings =
      (Plan.make r env settings).map Plan.verbose := by
  have hroot : Plan.rootFor { r with verbose := true } env settings =
      Plan.rootFor r env settings := rfl
  unfold Plan.make
  rw [h, hroot]
  cases Plan.rootFor r env settings <;> rfl

/-- What is noted while the settings are loaded is not below the threshold. -/
theorem above_bare_of_loadSettings {env : Environment} (hquiet : r.verbose = false)
    (hs : (loadSettings r env t).2.result = .ok settings)
    (h : Plan.thresholdFor r settings = .ok threshold) :
    (Output.bare (loadSettings r env t).2.events).above threshold =
      .bare (loadSettings r env t).2.events := by
  have hload : (loadSettings r env t).2.events = [] ∨ settings = Settings.defaults := by
    unfold loadSettings at hs ⊢
    cases hc : r.config with
    | absent | value p =>
      rw [hc] at hs
      exact Settings.silent_or_defaults_of_load hs
    | blank =>
      rw [hc] at hs
      cases hs
  rcases hload with silent | rfl
  · rw [silent]
    rfl
  · refine Output.above_bare (Nat.le_of_eq ?_) _
    have husual : Plan.thresholdFor r Settings.defaults = .ok usualThreshold := by
      unfold Plan.thresholdFor
      rw [hquiet, if_neg Bool.false_ne_true]
      rfl
    exact Except.ok.inj (h.symm.trans husual)

/-- **The beginning of a run** is what is left of that of the verbose one: both end there, or
both go on, with a session and with the verbose one. -/
theorem begin_of_verbose (hquiet : r.verbose = false)
    (hs : (loadSettings r x.environment t).2.result = .ok settings)
    (h : Plan.thresholdFor r settings = .ok threshold) :
    (∃ t' output e, begin { r with verbose := true } x t = (t', output, .ended e) ∧
      begin r x t = (t', output.above threshold, .ended e)) ∨
    ∃ t' output s, begin { r with verbose := true } x t = (t', output, .running s.verbose) ∧
      begin r x t = (t', output.above threshold, .running s) ∧ s.plan.threshold = threshold := by
  have hload : loadSettings { r with verbose := true } x.environment t =
      loadSettings r x.environment t := rfl
  have hbare := above_bare_of_loadSettings hquiet hs h
  unfold begin
  rw [hload]
  rcases hl : loadSettings r x.environment t with ⟨t₁, loaded⟩
  rw [hl] at hs hbare
  dsimp only at hs hbare ⊢
  rw [hs]
  simp only [Except.bind, make_of_verbose h]
  cases hp : Plan.make r x.environment settings with
  | error f =>
    exact .inl ⟨_, _, _, rfl, by rw [hbare]⟩
  | ok plan =>
    obtain rfl : threshold = plan.threshold :=
      Except.ok.inj (h.symm.trans (parts_of_make hp).1)
    have hroot : plan.verbose.root = plan.root := rfl
    have hlog : ∀ notes, (Output.bare loaded.events ++
        Output.log plan.verbose.threshold notes).above plan.threshold =
          .bare loaded.events ++ .log plan.threshold notes := by
      intro notes
      rw [Output.above_append, hbare]
      exact congrArg (_ ++ ·) (Output.above_log notes)
    simp only [Except.map, hroot]
    rcases (Service.idle x.constants x.snapshot).start (Provider.ofRoot plan.root) t₁ with
      ⟨service, t₂, begun⟩
    cases hresult : begun.result with
    | ok c =>
      refine .inr ⟨t₂, _, ⟨r.json, plan, service⟩, rfl, ?_, rfl⟩
      simp only [hlog]
    | error f =>
      refine .inl ?_
      cases f with
      | binding e =>
        refine ⟨_, _, _, rfl, ?_⟩
        rw [Output.above_append, hlog, Output.above_text]
      | _ => exact ⟨_, _, _, rfl, by simp only [hlog]⟩

/-- **A run** is what is left of the verbose one. -/
theorem perform_eq_above (hquiet : r.verbose = false)
    (hs : (loadSettings r x.environment t).2.result = .ok settings)
    (h : Plan.thresholdFor r settings = .ok threshold) (ticks : List (List FileTree.Change)) :
    perform r x t ticks = (perform { r with verbose := true } x t ticks).above threshold := by
  obtain ⟨t', output, e, hloud, hbegin⟩ | ⟨t', output, s, hloud, hbegin, rfl⟩ :=
    begin_of_verbose hquiet hs h
  · unfold perform
    rw [hloud, hbegin]
    rfl
  · unfold perform
    rw [hloud, hbegin]
    dsimp only
    rw [Outcome.above_after]
    congr 1
    split
    · exact s.list_eq_above t'
    · split
      · exact s.watch_eq_above t' ticks
      · exact s.once_eq_above t'

/-- A run whose settings are not loaded is the same when it is verbose. -/
theorem perform_of_unloaded {f : Fault}
    (hs : (loadSettings r x.environment t).2.result = .error f)
    (ticks : List (List FileTree.Change)) :
    perform r x t ticks = perform { r with verbose := true } x t ticks := by
  have hload : loadSettings { r with verbose := true } x.environment t =
      loadSettings r x.environment t := rfl
  unfold perform begin
  rw [hload]
  simp only [hs, Except.bind]

/-- **Being verbose changes what is logged and nothing else**, for a request of any kind, over
any tree, surroundings and ticks.  Let two command lines ask for the same, the second one
verbosely, and let the first one not fail on the level that its settings name.  Then both
runs end alike, print the same, pause for the same and leave the same tree.  Beside that, the
first one shows what the second one does without the notes below the threshold; if its
settings cannot be loaded there is no threshold, and both show the same. -/
theorem outcome_of_verbose {words words' : List String} (hr : parse words = .ok r)
    (hquiet : r.verbose = false) (hr' : parse words' = .ok { r with verbose := true })
    (hlevel : ∀ settings f, (loadSettings r x.environment t).2.result = .ok settings →
      Plan.thresholdFor r settings ≠ .error f) (ticks : List (List FileTree.Change)) :
    let quiet := run words x t ticks
    let loud := run words' x t ticks
    quiet.ending = loud.ending ∧ quiet.output.printed = loud.output.printed ∧
      quiet.pauses = loud.pauses ∧ quiet.tree = loud.tree ∧
      (∀ settings, (loadSettings r x.environment t).2.result = .ok settings →
        ∃ threshold, Plan.thresholdFor r settings = .ok threshold ∧
          quiet.output.diagnostics = loud.output.diagnostics.filter (·.isShown threshold)) ∧
      ∀ f, (loadSettings r x.environment t).2.result = .error f →
        quiet.output.diagnostics = loud.output.diagnostics := by
  intro quiet loud
  have hrun : quiet = perform r x t ticks := by simp only [quiet, run, hr]
  have hrun' : loud = perform { r with verbose := true } x t ticks := by
    simp only [loud, run, hr']
  cases hs : (loadSettings r x.environment t).2.result with
  | error f =>
    have hsame : quiet = loud := by rw [hrun, hrun', perform_of_unloaded hs]
    rw [hsame]
    exact ⟨rfl, rfl, rfl, rfl, fun _ h => absurd h (by simp), fun _ _ => rfl⟩
  | ok settings =>
    cases h : Plan.thresholdFor r settings with
    | error f => exact absurd h (hlevel settings f hs)
    | ok threshold =>
      have habove : quiet = loud.above threshold := by
        rw [hrun, hrun', perform_eq_above hquiet hs h]
      rw [habove]
      refine ⟨rfl, rfl, rfl, rfl, fun settings' hs' => ?_, fun _ h => absurd h (by simp)⟩
      obtain rfl := Except.ok.inj hs'
      exact ⟨threshold, h, rfl⟩

/-- A watch whose settings ask for information, over a battery with an unknown status that
changes after the first round: of nine notes the only one for debugging is left out. -/
theorem outcome_of_verbose_watch :
    let words := ["-w", "--root=ps", "--config", "settings.json"]
    let text := "\x7b\"logging\": \x7b\"level\": \"info\"\x7d\x7d"
    let t := FileTree.empty.changes
      [.file "settings.json" (Utf8.encode text),
        .device "ps/BAT0" [("type", "Battery"), ("present", "1"), ("status", "Odd")]]
    let ticks : List (List FileTree.Change) := [[.device "ps/BAT0" [("status", "Full")]]]
    let quiet := run words {} t ticks
    let loud := run ("-v" :: words) {} t ticks
    ∃ r, parse words = .ok r ∧ r.verbose = false ∧
      parse ("-v" :: words) = .ok { r with verbose := true } ∧
      (∀ settings f, (loadSettings r {} t).2.result = .ok settings →
        Plan.thresholdFor r settings ≠ .error f) ∧
      quiet.ending = loud.ending ∧ quiet.output.printed = loud.output.printed ∧
      quiet.pauses = loud.pauses ∧ quiet.tree = loud.tree ∧
      quiet.output.diagnostics = loud.output.diagnostics.filter (·.isShown Level.info.rank) ∧
      quiet.output.diagnostics.length = 8 ∧ loud.output.diagnostics.length = 9 := by
  intro words text t ticks quiet loud
  let r : Request := { watch := true, root := .value "ps", config := .value "settings.json" }
  have hr : parse words = .ok r := rfl
  have hr' : parse ("-v" :: words) = .ok { r with verbose := true } := rfl
  obtain ⟨settings, hs, hinfo⟩ := exists_ok_of_any (x := (loadSettings r {} t).2.result)
    (p := fun settings => (Plan.thresholdFor r settings).toOption == some Level.info.rank)
    (by decide +kernel)
  have hthreshold : Plan.thresholdFor r settings = .ok Level.info.rank :=
    eq_ok_of_toOption (eq_of_beq hinfo)
  have hlevel : ∀ settings f, (loadSettings r {} t).2.result = .ok settings →
      Plan.thresholdFor r settings ≠ .error f := by
    intro settings' f hs' hf
    obtain rfl := Except.ok.inj (hs.symm.trans hs')
    rw [hthreshold] at hf
    cases hf
  obtain ⟨hending, hprinted, hpauses, htree, hshown, -⟩ :=
    outcome_of_verbose (x := {}) hr rfl hr' hlevel ticks
  obtain ⟨threshold, h, hdiagnostics⟩ := hshown settings hs
  obtain rfl : Level.info.rank = threshold := Except.ok.inj (hthreshold.symm.trans h)
  exact ⟨r, hr, rfl, hr', hlevel, hending, hprinted, hpauses, htree, hdiagnostics,
    by decide +kernel, by decide +kernel⟩

end CommandLine
end PowerSupply
