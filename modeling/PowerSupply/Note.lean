/-
# Log notes

What the operations note in the log.  A note is the event itself; its level, the
component that wrote it and its wording are functions of it.
-/

import PowerSupply.Configuration
import PowerSupply.Fault
import PowerSupply.Json.Reader
import PowerSupply.Trace

namespace PowerSupply

/-- How serious a note is. -/
inductive Level where
  | debug
  | info
  | warning
  | error
  deriving DecidableEq, Repr

namespace Level

/-- The name of a level. -/
def name : Level → String
  | .debug => "DEBUG"
  | .info => "INFO"
  | .warning => "WARNING"
  | .error => "ERROR"

/-- The rank of a level, for comparison with a threshold. -/
def rank : Level → Nat
  | .debug => 10
  | .info => 20
  | .warning => 30
  | .error => 40

end Level

/-- The part of the program that writes a note. -/
inductive Component where
  | attributes
  | decoders
  | supplies
  | service
  | settings
  deriving DecidableEq, Repr

/-- The name under which a component writes to the log. -/
def Component.channel : Component → String
  | .attributes => "batterystate.core.attributes"
  | .decoders => "batterystate.core.decoders"
  | .supplies => "batterystate.providers.sysfs"
  | .service => "batterystate.core.manager"
  | .settings => "batterystate.config"

/-- Why a settings file was not used. -/
inductive SettingsProblem where
  | file (e : FileError)
  | json (d : Json.Defect) (text : List Char)

/-- An event in the log. -/
inductive Note where
  /-- An attribute file could not be read. -/
  | unreadable (path : Path) (e : FileError)
  /-- A text that should start with an integer does not. -/
  | notNumeric (text : String)
  /-- A status text is outside the vocabulary. -/
  | unknownStatus (text : String)
  /-- A health text is outside the vocabulary. -/
  | unknownHealth (text : String)
  /-- The supply root could not be listed. -/
  | unlisted (root : Path) (e : FileError)
  /-- A device of unknown type was passed over. -/
  | skipped (device : Path)
  /-- Discovery found no charger. -/
  | noChargers
  /-- Discovery found no file for a quantity. -/
  | missing (q : AttributePaths.Quantity)
  /-- What discovery resolved. -/
  | resolved (c : Configuration)
  /-- The full amount reads zero, so there is no level. -/
  | fullIsZero (path : Path)
  /-- A level was computed from a pair. -/
  | computedLevel (level now full : Int)
  /-- A charger is online whose type is no longer that of a charger. -/
  | unclearCharger (name : String)
  /-- A service was started. -/
  | started (provider : String) (chargers : Nat) (source : Option LevelSource)
  /-- A settings file could not be used. -/
  | settingsUnusable (path : Path) (problem : SettingsProblem)
  /-- A settings file does not hold an object. -/
  | settingsIgnored (path : Path)
  /-- Settings could not be saved. -/
  | settingsUnsaved (path : Path) (e : FileError)

namespace Note

/-- How serious a note is. -/
def level : Note → Level
  | .notNumeric _ | .resolved _ | .computedLevel .. => .debug
  | .started .. => .info
  | .unlisted .. | .settingsUnsaved .. => .error
  | _ => .warning

/-- Which component writes a note. -/
def component : Note → Component
  | .unreadable .. | .notNumeric _ => .attributes
  | .unknownStatus _ | .unknownHealth _ => .decoders
  | .started .. => .service
  | .settingsUnusable .. | .settingsIgnored _ | .settingsUnsaved .. => .settings
  | _ => .supplies

/-- The wording of a note. -/
def message : Note → String
  | .unreadable path e => "Could not open '" ++ path.text ++ "': " ++ e.message path
  | .notNumeric text => "Non-numeric attribute content " ++ Text.quoted text
  | .unknownStatus text => "Unknown battery status '" ++ text ++ "'"
  | .unknownHealth text => "Unknown battery health '" ++ text ++ "'"
  | .unlisted root e => "Could not open " ++ root.text ++ ": " ++ e.message root
  | .skipped device => device.text ++ "/type is unknown, skipping"
  | .noChargers => "No charger supplies found"
  | .missing q => "Battery " ++ q.name ++ " path not found"
  | .resolved c =>
    "Resolved " ++ c.root.text ++ ": chargers=" ++
      (Json.arr (c.chargers.map Json.str)).literal ++ " level=" ++
      (match c.paths.levelSource with
        | some s => s.name
        | none => "None") ++
      " divisor=" ++ c.voltageDivisor.display
  | .fullIsZero path => "Battery full charge reads 0 in '" ++ path.text ++ "'"
  | .computedLevel level now full =>
    "Computed level " ++ toString level ++ " from " ++ toString now ++ "/" ++ toString full
  | .unclearCharger name => name ++ ": Unknown power supply type"
  | .started provider chargers source =>
    provider ++ ": " ++ toString chargers ++ " charger(s), battery level from " ++
      (match source with
        | some s => s.name
        | none => "nowhere")
  | .settingsUnusable path problem =>
    "Could not load config from " ++ path.text ++ ": " ++
      (match problem with
        | .file e => e.message path
        | .json d text => d.message text)
  | .settingsIgnored path =>
    "Ignoring config " ++ path.text ++ ": top level is not an object"
  | .settingsUnsaved path e =>
    "Could not save config to " ++ path.text ++ ": " ++ e.message path

end Note

/-- A computation that writes to the log and may stop with a fault. -/
abbrev Logged (α : Type) := Trace Note Fault α

end PowerSupply
