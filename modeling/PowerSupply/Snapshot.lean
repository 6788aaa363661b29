/-
# Snapshots: what is known of the battery and the chargers

A snapshot is an object with named fields; the ten of `Field` are the ones that a
refresh writes, and its owner may keep others beside them.  Fields keep their order.

A snapshot of the standard class declares the ten fields, and only those are reported;
one of another class declares nothing and is reported as a whole (`reported`).

A `Write` is one assignment.  Status and health are written as variants; which
integers stand for them is the owner's choice and settled by `Constants`.
-/

import PowerSupply.Json.Basic
import PowerSupply.Supply

namespace PowerSupply

/-- A field that a refresh writes. -/
inductive Field where
  | acOnline
  | usbOnline
  | wirelessOnline
  | status
  | health
  | present
  | level
  | voltage
  | temperature
  | technology
  deriving DecidableEq, Repr

namespace Field

/-- All fields in order. -/
def all : List Field :=
  [.acOnline, .usbOnline, .wirelessOnline, .status, .health, .present, .level, .voltage,
   .temperature, .technology]

/-- The name of a field. -/
def name : Field → String
  | .acOnline => "ac_online"
  | .usbOnline => "usb_online"
  | .wirelessOnline => "wireless_online"
  | .status => "status"
  | .health => "health"
  | .present => "present"
  | .level => "level"
  | .voltage => "voltage_millivolts"
  | .temperature => "temperature_tenths_celsius"
  | .technology => "technology"

theorem mem_all (f : Field) : f ∈ all := by cases f <;> decide

theorem name_injective {f g : Field} (h : f.name = g.name) : f = g := by
  cases f <;> cases g <;> first | rfl | exact absurd h (by decide)

end Field

/-- The class of a snapshot. -/
inductive SnapshotClass where
  /-- The class that declares the fields of `Field`. -/
  | standard
  /-- A class of an owner, which declares nothing. -/
  | other (name : String)
  deriving DecidableEq, Repr

/-- The name of a class. -/
def SnapshotClass.name : SnapshotClass → String
  | .standard => "BatterySnapshot"
  | .other name => name

/-- An object with named fields, and its class. -/
structure Snapshot where
  kind : SnapshotClass
  fields : Json.Members

namespace Snapshot

/-- The value of a field. -/
def get? (s : Snapshot) (name : String) : Option Json := Json.Members.get? name s.fields

/-- The same snapshot with a field assigned. -/
def set (s : Snapshot) (name : String) (value : Json) : Snapshot :=
  { s with fields := Json.Members.set name value s.fields }

/-- The same snapshot with several fields assigned in order. -/
def setAll (s : Snapshot) (values : Json.Members) : Snapshot :=
  values.foldl (fun s v => s.set v.1 v.2) s

/-- The value of a field before anything was written to it. -/
def initialValue : Field → Json
  | .acOnline | .usbOnline | .wirelessOnline | .present => .bool false
  | .status | .health | .level | .voltage | .temperature => .int 0
  | .technology => .str ""

/-- The snapshot to start from. -/
def initial : Snapshot :=
  ⟨.standard, Field.all.map fun f => (f.name, initialValue f)⟩

/-- The fields of `Field` that a snapshot lacks, in order. -/
def missing (s : Snapshot) : List Field := Field.all.filter fun f => (s.get? f.name).isNone

/-- The fields that are reported: the declared ones of the standard class, and all of
any other class. -/
def reported (s : Snapshot) : Json.Members :=
  match s.kind with
  | .standard => Field.all.filterMap fun f => (s.get? f.name).map (f.name, ·)
  | .other _ => s.fields

theorem get?_set_self (s : Snapshot) (name : String) (value : Json) :
    (s.set name value).get? name = some value := Json.Members.get?_set_self ..

theorem get?_set_of_ne (s : Snapshot) {name other : String} (value : Json) (h : other ≠ name) :
    (s.set name value).get? other = s.get? other := Json.Members.get?_set_of_ne _ _ h

end Snapshot

/-- One assignment to a snapshot. -/
inductive Write where
  | acOnline (value : Json)
  | usbOnline (value : Json)
  | wirelessOnline (value : Json)
  | status (value : Status)
  | health (value : Health)
  | present (value : Json)
  | level (value : Json)
  | voltage (millivolts : Json)
  | temperature (tenthsCelsius : Json)
  | technology (value : Json)

/-- The field that a write assigns. -/
def Write.field : Write → Field
  | .acOnline _ => .acOnline
  | .usbOnline _ => .usbOnline
  | .wirelessOnline _ => .wirelessOnline
  | .status _ => .status
  | .health _ => .health
  | .present _ => .present
  | .level _ => .level
  | .voltage _ => .voltage
  | .temperature _ => .temperature
  | .technology _ => .technology

end PowerSupply
