/-
# Reports

What is shown of a service: its snapshot and its configuration, each as an object
for programs and as text for people.  The snapshot is shown with the labels of its
status and health beside their integers.

The temperature is kept in tenths of a degree.  It is divided by ten as a
floating-point number and then shown with one decimal place.
-/

import PowerSupply.Json.Display
import PowerSupply.Number.Fixed
import PowerSupply.Service
import PowerSupply.Text.Lines

namespace PowerSupply
namespace Report

/-- What is reported of a snapshot, with the labels of its status and health. -/
def snapshotMembers (k : Constants) (s : Snapshot) : Json.Members :=
  let status := (s.get? Field.status.name).getD .null
  let health := (s.get? Field.health.name).getD .null
  Json.Members.set "health_name" (.str (k.healthLabel health))
    (Json.Members.set "status_name" (.str (k.statusLabel status)) s.reported)

/-- The snapshot of a service as an object. -/
def ofSnapshot (s : Service) : Except Fault Json.Members :=
  match s.constants? with
  | some k => .ok (snapshotMembers k s.snapshot)
  | none => .error .notBound

/-- A path as a value, null if there is none. -/
def pathValue (p : Option Path) : Json :=
  match p with
  | some p => .str p.text
  | none => .null

/-- A configuration as an object. -/
def configurationMembers (c : Configuration) : Json.Members :=
  [("root", .str c.root.text),
   ("chargers", .arr (c.chargers.map Json.str)),
   ("level_source", match c.paths.levelSource with
      | some s => .str s.name
      | none => .null),
   ("voltage_divisor", c.voltageDivisor),
   ("paths", .obj (c.paths.entries.map fun e => (e.1, pathValue e.2)))]

/-- The configuration of a service as an object. -/
def ofConfiguration (s : Service) : Except Fault Json.Members :=
  match s.configuration? with
  | some c => .ok (configurationMembers c)
  | none => .error .notDiscovered

/-- A text filled with blanks up to a width. -/
def padRight (width : Nat) (s : String) : String :=
  s ++ String.ofList (List.replicate (width - s.length) ' ')

/-- A text, or another one in place of an empty text. -/
def orElse (s fallback : String) : String := if s = "" then fallback else s

/-- The lines of a configuration for people. -/
def configurationLines (c : Configuration) : List String :=
  let source := match c.paths.levelSource with
    | some s => s.name
    | none => "none"
  ["Power supplies under " ++ c.root.text ++ ":",
   "",
   "  Chargers:     " ++ orElse (", ".intercalate c.chargers) "none",
   "  Level source: " ++ source,
   "  Voltage unit: " ++ (if c.voltageDivisor.equalsInt 1000 then "uV" else "mV"),
   ""] ++
  c.paths.entries.map fun e =>
    "    " ++ padRight 12 e.1 ++ " " ++ (match e.2 with
      | some p => p.text
      | none => "-")

/-- The configuration of a service for people. -/
def configurationText (s : Service) : Except Fault String :=
  match s.configuration? with
  | some c => .ok (Text.unlines (configurationLines c))
  | none => .error .notDiscovered

/-- A number of tenths with one decimal place. -/
def tenths (n : Int) : Except Fault String :=
  match Binary64.ofQuotient n 10 with
  | .infinity _ => .error .quotientTooLarge
  | x => .ok (String.ofList (x.fixed 1))

/-- A temperature in tenths of a degree, shown in degrees. -/
def temperatureText (v : Json) : Except Fault String :=
  match v with
  | .int n => tenths n
  | .bool b => tenths (if b then 1 else 0)
  | .float x => .ok (String.ofList ((x.div (.ofInt 10)).fixed 1))
  | v => .error (.notDivisible v.kindName "int")

/-- A label with blanks for underscores. -/
def spaced (v : Json) : Except Fault String :=
  match v with
  | .str s => .ok (String.ofList (s.toList.map fun c => if c = '_' then ' ' else c))
  | v => .error (.notText v.kindName)

/-- A member that a report has to have. -/
def member (ms : Json.Members) (key : String) : Except Fault Json :=
  match Json.Members.get? key ms with
  | some v => .ok v
  | none => .error (.missingMember key)

/-- The names of the power sources that are on. -/
def sources (ms : Json.Members) : Except Fault (List String) := do
  let ac ← member ms "ac_online"
  let usb ← member ms "usb_online"
  let wireless ← member ms "wireless_online"
  return (if ac.truthy then ["ac"] else []) ++ (if usb.truthy then ["usb"] else []) ++
    (if wireless.truthy then ["wireless"] else [])

/-- The lines of a snapshot for people. -/
def snapshotLines (ms : Json.Members) : Except Fault (List String) := do
  let on ← sources ms
  let status ← spaced (← member ms "status_name")
  let level ← member ms "level"
  let present ← member ms "present"
  let health ← spaced (← member ms "health_name")
  let voltage ← member ms "voltage_millivolts"
  let temperature ← temperatureText (← member ms "temperature_tenths_celsius")
  let technology ← member ms "technology"
  return ["Battery:     " ++ level.display ++ "% (" ++ status ++ ")",
     "Present:     " ++ (if present.truthy then "yes" else "no"),
     "Health:      " ++ health,
     "Voltage:     " ++ voltage.display ++ " mV",
     "Temperature: " ++ temperature ++ " C"] ++
    (if technology.truthy then ["Technology:  " ++ technology.display] else []) ++
    ["Power:       " ++ orElse (", ".intercalate on) "battery"]

/-- A snapshot for people. -/
def snapshotText (ms : Json.Members) : Except Fault String := do
  return Text.unlines (← snapshotLines ms)

/-- The report on any value; only an object has the members that it asks for. -/
def valueText : Json → Except Fault String
  | .obj ms => snapshotText ms
  | v => .error (.noMembers v.kindName)

end Report
end PowerSupply
