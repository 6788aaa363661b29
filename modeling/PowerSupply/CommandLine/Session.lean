/-
# A run of the command

A run loads the settings, works out what is to be done (`Plan`), starts a service and
then shows one of three things: its configuration, its snapshot, or its snapshot again
and again with a pause after each.

A watch goes on until it is interrupted.  Here that is a list of ticks: after each
pause the next tick happens to the file tree, and the pause after the last one is
interrupted.  One round (`Session.round`) is all that a watch repeats.  A pause is taken
as given, whatever value says how long it is; that nobody can wait for a text or for less
than nothing is left to the clock.

Whatever happened, a run has an `Outcome`: how it ended, what it printed, the pauses,
and the file tree that it leaves.
-/

import PowerSupply.CommandLine.Arguments
import PowerSupply.CommandLine.Help
import PowerSupply.CommandLine.Threshold
import PowerSupply.Json.Printer
import PowerSupply.Refresh
import PowerSupply.Report
import PowerSupply.Settings

namespace PowerSupply
namespace CommandLine

/-- What is written beside the printed text. -/
inductive Diagnostic where
  /-- A refused command line. -/
  | refusal (r : Refusal)
  /-- A note from the time before the log was set up. -/
  | bare (n : Note)
  /-- An entry of the log. -/
  | entry (n : Note)

/-- The text of a diagnostic; `time` is shown for the time of an entry. -/
def Diagnostic.text (time : String) : Diagnostic → String
  | .refusal r => r.text
  | .bare n => n.message ++ "\n"
  | .entry n =>
    time ++ " " ++ n.level.name ++ " " ++ n.component.channel ++ ": " ++ n.message ++ "\n"

/-- What a run has shown. -/
structure Output where
  printed : String := ""
  diagnostics : List Diagnostic := []

namespace Output

/-- One output after another. -/
def append (a b : Output) : Output := ⟨a.printed ++ b.printed, a.diagnostics ++ b.diagnostics⟩

instance : Append Output := ⟨append⟩

/-- A printed text. -/
def text (s : String) : Output := ⟨s, []⟩

/-- Notes from the time before the log was set up. -/
def bare (notes : List Note) : Output := ⟨"", (shown usualThreshold notes).map .bare⟩

/-- Notes in the log. -/
def log (threshold : Nat) (notes : List Note) : Output := ⟨"", (shown threshold notes).map .entry⟩

@[simp] theorem diagnostics_append (a b : Output) :
    (a ++ b).diagnostics = a.diagnostics ++ b.diagnostics := rfl

end Output

/-- How a run ends. -/
inductive Ending where
  | exit (code : Nat)
  | fault (f : Fault)

/-- What a run has done. -/
structure Outcome where
  ending : Ending
  output : Output
  /-- How long each pause was meant to be. -/
  pauses : List Json
  tree : FileTree

/-- The same outcome with output before its own. -/
def Outcome.after (o : Outcome) (before : Output) : Outcome :=
  { o with output := before ++ o.output }

/-- What a run is given besides its command line and its file tree. -/
structure Surroundings where
  environment : Environment := {}
  snapshot : Snapshot := .initial
  constants : ConstantSource := .standard

/-- What a run is about to do, once the settings are known. -/
structure Plan where
  threshold : Nat
  root : Path
  /-- The pause between two rounds, of any kind of value. -/
  interval : Json

namespace Plan

/-- The threshold of the log. -/
def thresholdFor (r : Request) (s : Settings) : Except Fault Nat :=
  if r.verbose then .ok Level.debug.rank
  else thresholdOf (s.get "logging.level" (.str "WARNING")).display

/-- The supply root. -/
def rootFor (r : Request) (env : Environment) (s : Settings) : Except Fault Path :=
  match r.root with
  | .value p => .ok p
  | _ => Settings.supplyRoot env s

/-- The pause between two rounds. -/
def intervalFor (r : Request) (s : Settings) : Json :=
  match r.interval with
  | .value n => .int n
  | .blank => .arr []
  | .absent => s.get "polling.interval_seconds" (.int 30)

/-- The plan for a request under given settings. -/
def make (r : Request) (env : Environment) (s : Settings) : Except Fault Plan := do
  let threshold ← thresholdFor r s
  let root ← rootFor r env s
  return ⟨threshold, root, intervalFor r s⟩

end Plan

/-- Loads the settings for a request. -/
def loadSettings (r : Request) (env : Environment) (t : FileTree) : FileTree × Logged Settings :=
  match r.config with
  | .absent => Settings.load env t none
  | .value p => Settings.load env t (some p)
  | .blank => (t, .fail .blankSettingsPath)

/-- Where the settings for a request are kept. -/
def settingsPlace? (r : Request) (env : Environment) : Option Path :=
  match r.config with
  | .absent => (Settings.directory env).toOption.map fun dir => dir / "config.json"
  | .value p => some p
  | .blank => none

/-- The length of a pause in milliseconds; only numbers that are not negative are
lengths. -/
def milliseconds? (interval : Json) : Option Nat :=
  match interval with
  | .int n => if n < 0 then none else some (n.toNat * 1000)
  | .float (.finite false m e) => some (Binary64.truncated (m * 1000) e)
  | _ => none

/-- A started service with its plan. -/
structure Session where
  json : Bool
  plan : Plan
  service : Service

/-- An object as it is printed for programs. -/
def line (ms : Json.Members) : String := (Json.obj ms).compact ++ "\n"

/-- What is printed of a failed binding. -/
def bindingText (json : Bool) (e : BindingError) : String :=
  if json then line [("error", .str e.message)] else "Error: " ++ e.message ++ "\n"

/-- What the beginning of a run leads to. -/
inductive Opening where
  | ended (e : Ending)
  | running (s : Session)

/-- Loads the settings and starts the service. -/
def begin (r : Request) (x : Surroundings) (t : FileTree) : FileTree × Output × Opening :=
  let (t, loaded) := loadSettings r x.environment t
  let before := Output.bare loaded.events
  match loaded.result.bind (Plan.make r x.environment) with
  | .error f => (t, before, .ended (.fault f))
  | .ok plan =>
    let (service, t, begun) :=
      (Service.idle x.constants x.snapshot).start (Provider.ofRoot plan.root) t
    let output := before ++ .log plan.threshold begun.events
    match begun.result with
    | .ok _ => (t, output, .running ⟨r.json, plan, service⟩)
    | .error (.binding e) => (t, output ++ .text (bindingText r.json e), .ended (.exit 1))
    | .error f => (t, output, .ended (.fault f))

namespace Session

/-- What is printed of the configuration. -/
def listing (s : Session) : Except Fault String :=
  if s.json then (Report.ofConfiguration s.service).map line
  else Report.configurationText s.service

/-- What is printed of the snapshot. -/
def report (s : Session) : Except Fault String := do
  let ms ← Report.ofSnapshot s.service
  if s.json then return line ms else Report.snapshotText ms

/-- Refreshes the snapshot and prints it. -/
def round (s : Session) (t : FileTree) : Session × FileTree × Output × Except Fault Unit :=
  let (service, t, done) := s.service.update (Provider.ofRoot s.plan.root) t
  let s := { s with service }
  let output := Output.log s.plan.threshold done.events
  match done.result.bind fun _ => s.report with
  | .ok text => (s, t, output ++ .text text, .ok ())
  | .error f => (s, t, output, .error f)

/-- Prints the configuration. -/
def list (s : Session) (t : FileTree) : Outcome :=
  match s.listing with
  | .ok text => ⟨.exit 0, .text text, [], t⟩
  | .error f => ⟨.fault f, {}, [], t⟩

/-- Prints the snapshot once. -/
def once (s : Session) (t : FileTree) : Outcome :=
  match s.round t with
  | (_, t, output, .ok ()) => ⟨.exit 0, output, [], t⟩
  | (_, t, output, .error f) => ⟨.fault f, output, [], t⟩

/-- The first line of a watch. -/
def banner (s : Session) : String :=
  "Monitoring battery (every " ++ s.plan.interval.display ++ "s, Ctrl+C to stop)...\n\n"

/-- The last line of a watch. -/
def farewell : String := "\nStopped.\n"

/-- Prints the snapshot in every round, each followed by an empty line and a pause,
until the pause after the last tick is interrupted.  The pause is recorded as it was asked
for, and never ends the watch by itself. -/
def rounds (s : Session) (t : FileTree) (ticks : List (List FileTree.Change)) : Outcome :=
  match s.round t with
  | (_, t, output, .error f) => ⟨.fault f, output, [], t⟩
  | (s, t, output, .ok ()) =>
    let output := output ++ .text "\n"
    match ticks with
    | [] => ⟨.exit 0, output ++ .text farewell, [s.plan.interval], t⟩
    | tick :: ticks =>
      let rest := s.rounds (t.changes tick) ticks
      { rest with output := output ++ rest.output, pauses := s.plan.interval :: rest.pauses }

/-- Watches the snapshot. -/
def watch (s : Session) (t : FileTree) (ticks : List (List FileTree.Change)) : Outcome :=
  (s.rounds t ticks).after (.text s.banner)

end Session

/-- Does what a request asks for. -/
def perform (r : Request) (x : Surroundings) (t : FileTree)
    (ticks : List (List FileTree.Change)) : Outcome :=
  match begin r x t with
  | (t, output, .ended e) => ⟨e, output, [], t⟩
  | (t, output, .running s) =>
    (if r.list then s.list t else if r.watch then s.watch t ticks else s.once t).after output

/-- Runs a command line. -/
def run (words : List String) (x : Surroundings) (t : FileTree)
    (ticks : List (List FileTree.Change)) : Outcome :=
  match parse words with
  | .error .help => ⟨.exit 0, .text help, [], t⟩
  | .error (.refused r) => ⟨.exit 2, ⟨"", [.refusal r]⟩, [], t⟩
  | .ok r => perform r x t ticks

end CommandLine
end PowerSupply
